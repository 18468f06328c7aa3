/-
How much readers take, and where they begin. What a reader leaves is always an end of the text that
there was, and what is repeated takes one character at least. So a repetition never stops because
its limit is reached: it stops where its item fails, after a run of the item. The first character
tells whether there is anything to read at all.
-/

import StreamPath.Proofs.Parse

namespace StreamPath

/-- Blanks are only dropped at the start. -/
theorem Text.afterBlanks_suffix (text : List Char) : afterBlanks text <:+ text :=
  List.dropWhile_suffix _

namespace Parse

variable {α β : Type} {item other : Parse α} {text rest : List Char}

/-- Whether every success leaves an end of the text. -/
def Shrinks (item : Parse α) : Prop :=
  ∀ ⦃text value rest⦄, item text = some (value, rest) → rest <:+ text

/-! ### Laws of readers that leave an end of the text -/

namespace Shrinks

theorem pure (value : α) : (Pure.pure value : Parse α).Shrinks := by
  intro text other rest reads
  obtain ⟨_, rfl⟩ := Prod.mk.inj (Option.some.inj reads)
  exact List.suffix_refl _

/-- Both parts leave an end of the text before them. -/
theorem bind {next : α → Parse β} (first : item.Shrinks) (each : ∀ value, (next value).Shrinks) :
    (item >>= next).Shrinks := by
  intro text value rest reads
  obtain ⟨middle, between, ofFirst, ofNext⟩ := exists_of_bind reads
  exact (each middle ofNext).trans (first ofFirst)

theorem map (shrinks : item.Shrinks) (f : α → β) : (Parse.map f item).Shrinks := by
  intro text value rest reads
  obtain ⟨⟨middle, between⟩, ofItem, same⟩ := Option.map_eq_some_iff.mp reads
  obtain ⟨_, rfl⟩ := Prod.mk.inj same
  exact shrinks ofItem

/-- Whichever of two readers answers leaves an end of the text. -/
theorem orElse (one : item.Shrinks) (two : other.Shrinks) : (Parse.orElse item other).Shrinks := by
  intro text value rest reads
  unfold Parse.orElse at reads
  cases found : item text with
  | some result => exact one (found.trans (by rw [found] at reads; exact reads))
  | none => exact two (by rw [found] at reads; exact reads)

/-- An item that is missing leaves the whole text. -/
theorem optional (shrinks : item.Shrinks) : (Parse.optional item).Shrinks := by
  intro text value rest reads
  unfold Parse.optional at reads
  cases found : item text with
  | some result =>
    rw [found] at reads
    obtain ⟨_, rfl⟩ := Prod.mk.inj (Option.some.inj reads)
    exact shrinks found
  | none =>
    rw [found] at reads
    obtain ⟨_, rfl⟩ := Prod.mk.inj (Option.some.inj reads)
    exact List.suffix_refl _

/-- Dropping blanks before an item and after it leaves an end of the text as well. -/
theorem spaced (shrinks : item.Shrinks) : (Parse.spaced item).Shrinks := by
  intro text value rest reads
  rw [spaced_eq] at reads
  obtain ⟨⟨middle, between⟩, ofItem, same⟩ := Option.map_eq_some_iff.mp reads
  obtain ⟨_, rfl⟩ := Prod.mk.inj same
  exact ((Text.afterBlanks_suffix between).trans (shrinks ofItem)).trans
    (Text.afterBlanks_suffix text)

/-- A repetition leaves what its last item has left. -/
theorem many (shrinks : item.Shrinks) : (Parse.many item).Shrinks := by
  have within : ∀ limit text, (manyWithin item limit text).2 <:+ text := by
    intro limit
    induction limit with
    | zero => exact fun _ => List.suffix_refl _
    | succ limit inductionHypothesis =>
      intro text
      rw [manyWithin]
      cases reads : item text with
      | none => exact List.suffix_refl _
      | some result => exact (inductionHypothesis result.2).trans (shrinks reads)
  intro text values rest reads
  exact (Prod.mk.inj (Option.some.inj reads)).2 ▸ within text.length text

theorem char (c : Char) : (Parse.char c).Shrinks := by
  intro text value rest reads
  rw [eq_cons_of_char reads]
  exact List.suffix_cons c rest

theorem word (expected : String) : (Parse.word expected).Shrinks :=
  fun _ _ _ reads => ⟨_, (eq_of_word rfl reads).symm⟩

end Shrinks

/-! ### Laws of readers that take something -/

namespace Consumes

theorem char (c : Char) : (Parse.char c).Consumes := by
  intro text value rest reads
  rw [eq_cons_of_char reads]
  exact Nat.lt_succ_self _

/-- A word takes something unless it is empty. -/
theorem word {expected : String} (nonempty : expected.toList ≠ []) :
    (Parse.word expected).Consumes := by
  intro text value rest reads
  rw [eq_of_word rfl reads, List.length_append]
  exact Nat.lt_add_of_pos_left (List.length_pos_iff.mpr nonempty)

/-- It is enough that the first part takes something. -/
theorem bind {next : α → Parse β} (first : item.Consumes) (each : ∀ value, (next value).Shrinks) :
    (item >>= next).Consumes := by
  intro text value rest reads
  obtain ⟨middle, between, ofFirst, ofNext⟩ := exists_of_bind reads
  exact Nat.lt_of_le_of_lt (each middle ofNext).length_le (first ofFirst)

theorem map (consumes : item.Consumes) (f : α → β) : (Parse.map f item).Consumes := by
  intro text value rest reads
  obtain ⟨⟨middle, between⟩, ofItem, same⟩ := Option.map_eq_some_iff.mp reads
  obtain ⟨_, rfl⟩ := Prod.mk.inj same
  exact consumes ofItem

/-- Two readers take something only if both of them do, since either may answer. -/
theorem orElse (one : item.Consumes) (two : other.Consumes) :
    (Parse.orElse item other).Consumes := by
  intro text value rest reads
  unfold Parse.orElse at reads
  cases found : item text with
  | some result => exact one (found.trans (by rw [found] at reads; exact reads))
  | none => exact two (by rw [found] at reads; exact reads)

theorem firstOf {choices : List (Parse α)} (each : ∀ choice ∈ choices, choice.Consumes) :
    (Parse.firstOf choices).Consumes := by
  intro text value rest reads
  obtain ⟨choice, listed, found⟩ := exists_of_firstOf reads
  exact each choice listed found

/-- The blanks around an item are taken besides. -/
theorem spaced (consumes : item.Consumes) : (Parse.spaced item).Consumes := by
  intro text value rest reads
  rw [spaced_eq] at reads
  obtain ⟨⟨middle, between⟩, ofItem, same⟩ := Option.map_eq_some_iff.mp reads
  obtain ⟨_, rfl⟩ := Prod.mk.inj same
  exact Nat.lt_of_le_of_lt (Text.length_afterBlanks_le between)
    (Nat.lt_of_lt_of_le (consumes ofItem) (Text.length_afterBlanks_le text))

end Consumes

/-- What is repeated is read along a run, up to where it fails. -/
theorem runs_of_many (consumes : item.Consumes) {values : List α}
    (reads : many item text = some (values, rest)) : Runs item text values rest := by
  have within : ∀ limit text, text.length ≤ limit →
      Runs item text (manyWithin item limit text).1 (manyWithin item limit text).2 := by
    have stops : item [] = none := by
      cases found : item [] with
      | none => rfl
      | some result => exact absurd (consumes found) (Nat.not_lt_zero _)
    intro limit
    induction limit with
    | zero =>
      intro text short
      obtain rfl := List.length_eq_zero_iff.mp (Nat.le_zero.mp short)
      exact .stop stops
    | succ limit inductionHypothesis =>
      intro text short
      rw [manyWithin]
      cases found : item text with
      | none => exact .stop found
      | some result =>
        have shorter := consumes found
        exact .step found shorter (inductionHypothesis result.2 (by omega))
  obtain ⟨rfl, rfl⟩ := Prod.mk.inj (Option.some.inj reads)
  exact within text.length text (Nat.le_refl _)

/-! ### How what is read begins -/

/-- Whether whatever is read begins with a character of a class. -/
def Begins (item : Parse α) (first : Char → Prop) : Prop :=
  ∀ ⦃text result⦄, item text = some result → ∃ c more, text = c :: more ∧ first c

namespace Begins

variable {item other : Parse α} {first : Char → Prop}

/-- Whatever begins with a character of a class begins with one of a wider class. -/
theorem mono {wider : Char → Prop} (begins : item.Begins first) (each : ∀ c, first c → wider c) :
    item.Begins wider := by
  intro text result reads
  obtain ⟨c, more, whole, is⟩ := begins reads
  exact ⟨c, more, whole, each c is⟩

theorem char (c : Char) : (Parse.char c).Begins (· = c) :=
  fun _ _ reads => ⟨c, _, eq_cons_of_char reads, rfl⟩

theorem word {expected : String} {c : Char} {more : List Char}
    (spelled : expected.toList = c :: more) :
    (Parse.word expected).Begins (· = c) :=
  fun _ result reads => ⟨c, more ++ result.2, eq_of_word spelled reads, rfl⟩

/-- What is read by two parts begins as the first of them begins. -/
theorem bind (begins : item.Begins first) (next : α → Parse β) : (item >>= next).Begins first := by
  intro text result reads
  obtain ⟨_, _, ofItem, _⟩ := exists_of_bind reads
  exact begins ofItem

theorem map (begins : item.Begins first) (f : α → β) : (Parse.map f item).Begins first := by
  intro text result reads
  obtain ⟨_, ofItem, _⟩ := Option.map_eq_some_iff.mp reads
  exact begins ofItem

/-- Both readers may answer, so both have to begin so. -/
theorem orElse (one : item.Begins first) (two : other.Begins first) :
    (Parse.orElse item other).Begins first := by
  intro text result reads
  cases ofItem : item text with
  | some _ => exact one ofItem
  | none =>
    rw [orElse_of_none ofItem] at reads
    exact two reads

/-- Any of the readers may answer, so all have to begin so. -/
theorem firstOf {choices : List (Parse α)} (each : ∀ choice ∈ choices, choice.Begins first) :
    (Parse.firstOf choices).Begins first := by
  intro text result reads
  obtain ⟨choice, listed, found⟩ := exists_of_firstOf reads
  exact each choice listed found

/-- What is optional begins like the item, or like what follows it. -/
theorem optional_bind {next : Option α → Parse β} (begins : item.Begins first)
    (others : ∀ value, (next value).Begins first) :
    (Parse.optional item >>= next).Begins first := by
  intro text result reads
  obtain ⟨value, rest, ofItem, ofNext⟩ := exists_of_bind reads
  cases found : item text with
  | some _ => exact begins found
  | none =>
    rw [optional_of_none found] at ofItem
    obtain ⟨_, rfl⟩ := Prod.mk.inj (Option.some.inj ofItem)
    exact others value ofNext

end Begins

end Parse

end StreamPath
