/-
Looking for one text in another. The first occurrence splits the text into what comes before it and
what comes after it.
-/

namespace StreamPath.Text

/-- What follows a front part of a text, if the text starts with it. -/
def afterFront : List Char → List Char → Option (List Char)
  | [], text => some text
  | _ :: _, [] => none
  | expected :: front, c :: text => if expected == c then afterFront front text else none

/-- What comes before the first occurrence of a text and what comes after it. -/
def splitAtFirst (target : List Char) : List Char → Option (List Char × List Char)
  | [] => (afterFront target []).map fun rest => ([], rest)
  | c :: text =>
    match afterFront target (c :: text) with
    | some rest => some ([], rest)
    | none => (splitAtFirst target text).map fun (before, after) => (c :: before, after)

/-- Whether a text starts with another one. -/
def startsWith (text front : List Char) : Bool := (afterFront front text).isSome

/-- Whether a text ends with another one. -/
def endsWith (text tail : List Char) : Bool := startsWith text.reverse tail.reverse

/-- Whether a text occurs in another one. -/
def occursIn (target text : List Char) : Bool := (splitAtFirst target text).isSome

theorem afterFront_eq_some_iff {front text rest : List Char} :
    afterFront front text = some rest ↔ text = front ++ rest := by
  induction front generalizing text with
  | nil => simp [afterFront]
  | cons expected front inductionHypothesis =>
    cases text with
    | nil => simp [afterFront]
    | cons c text =>
      by_cases same : expected = c
      · subst same
        simp [afterFront, inductionHypothesis]
      · simp [afterFront, same, Ne.symm same]

theorem splitAtFirst_sound {target text before after : List Char}
    (found : splitAtFirst target text = some (before, after)) :
    text = before ++ target ++ after := by
  induction text generalizing before with
  | nil =>
    simp only [splitAtFirst, Option.map_eq_some_iff, Prod.mk.injEq] at found
    obtain ⟨rest, reads, rfl, rfl⟩ := found
    rw [afterFront_eq_some_iff] at reads
    simpa using reads
  | cons c text inductionHypothesis =>
    simp only [splitAtFirst] at found
    cases here : afterFront target (c :: text) with
    | some rest =>
      simp only [here, Option.some.injEq, Prod.mk.injEq] at found
      obtain ⟨rfl, rfl⟩ := found
      simpa using afterFront_eq_some_iff.mp here
    | none =>
      simp only [here, Option.map_eq_some_iff, Prod.mk.injEq] at found
      obtain ⟨⟨front, rest⟩, later, rfl, rfl⟩ := found
      simp [inductionHypothesis later]

end StreamPath.Text
