/-
What computations yield. A computation yields a value in a context if it ends with that value there,
whatever it reports on the way. Each way of putting computations together has one law that says what
the whole yields in terms of what the parts yield; proofs about paths and patterns use these laws
and never look inside a computation.
-/

import StreamPath.Evaluation

namespace StreamPath

/-! ### Results that may be errors -/

theorem ok_bind_iff {ε α β : Type} {first : Except ε α} {next : α → Except ε β} {value : β} :
    (first >>= next) = .ok value ↔ ∃ middle, first = .ok middle ∧ next middle = .ok value := by
  cases first with
  | error error => exact ⟨nofun, nofun⟩
  | ok middle => exact ⟨fun ended => ⟨middle, rfl, ended⟩, fun ⟨_, rfl, ended⟩ => ended⟩

theorem ok_map_iff {ε α β : Type} {result : Except ε α} {f : α → β} {value : β} :
    result.map f = .ok value ↔ ∃ middle, result = .ok middle ∧ f middle = value := by
  cases result with
  | error error => exact ⟨nofun, nofun⟩
  | ok middle => simp [Except.map]

theorem bind_apply {ε ς α β : Type} (first : ExceptT ε (StateM ς) α)
    (next : α → ExceptT ε (StateM ς) β) (state : ς) :
    (first >>= next) state =
      match first state with
      | (.ok value, after) => next value after
      | (.error error, after) => (.error error, after) := by
  simp only [bind, ExceptT.bind, ExceptT.mk, ExceptT.bindCont, StateT.bind]
  cases first state with
  | mk result after => cases result <;> rfl

theorem ok_of_toOption {ε α : Type} {result : Except ε α} {value : α}
    (found : result.toOption = some value) : result = .ok value := by
  cases result with
  | error error => cases found
  | ok other => exact congrArg Except.ok (Option.some.inj found)

namespace Evaluation

variable {α β : Type}

/-- Whether a computation ends with a value in a context. -/
def Yields (computation : Evaluation α) (context : Context) (value : α) : Prop :=
  (computation context).result = .ok value

/-! ### One computation and the next -/

theorem Yields.unique {computation : Evaluation α} {context : Context} {first second : α}
    (one : computation.Yields context first) (other : computation.Yields context second) :
    first = second :=
  Except.ok.inj (one.symm.trans other)

@[simp] theorem yields_pure {value other : α} {context : Context} :
    (pure value : Evaluation α).Yields context other ↔ value = other := by
  simp [Yields]

@[simp] theorem yields_ask {f : Context → α} {context : Context} {value : α} :
    (ask f).Yields context value ↔ f context = value := by
  simp [Yields, ask]

theorem yields_bind {first : Evaluation α} {next : α → Evaluation β} {context : Context}
    {value : β} :
    (first >>= next).Yields context value ↔
      ∃ middle, first.Yields context middle ∧ (next middle).Yields context value := by
  unfold Yields
  rw [run_bind]
  rcases first context with ⟨error | middle, reports⟩ <;> simp

/-- After an error a computation can only go on with the fallback. -/
theorem eq_of_yields_recover {error : ExprError} {fallback value : α} {context : Context}
    (yields : (recover error fallback).Yields context value) : value = fallback := by
  have stops : ∀ failure : ExprError, ¬(fail failure : Evaluation α).Yields context value :=
    fun failure => nofun
  unfold recover at yields
  split at yields
  · obtain ⟨_, _, more⟩ := yields_bind.mp yields
    obtain ⟨continues, _, answered⟩ := yields_bind.mp more
    cases continues with
    | true => exact (yields_pure.mp answered).symm
    | false => exact absurd answered (stops _)
  · split at yields
    · obtain ⟨_, _, failed⟩ := yields_bind.mp yields
      exact absurd failed (stops _)
    · exact absurd yields (stops _)

/-! ### Over lists -/

/-- What is computed for all elements is what is computed for each of them. -/
theorem mem_of_yields_forAll {computation : β → Evaluation α} {elements : List β}
    {context : Context} {values : List α}
    (yields : (forAll computation elements).Yields context values) (value : α) :
    value ∈ values ↔ ∃ element ∈ elements, (computation element).Yields context value := by
  induction elements generalizing values with
  | nil =>
    obtain rfl : [] = values := yields_pure.mp yields
    simp
  | cons first rest inductionHypothesis =>
    obtain ⟨head, headYields, more⟩ := yields_bind.mp yields
    obtain ⟨tail, tailYields, joined⟩ := yields_bind.mp more
    obtain rfl := yields_pure.mp joined
    simp only [List.mem_cons, inductionHypothesis tailYields, exists_eq_or_imp]
    exact or_congr ⟨fun same => same ▸ headYields, fun also => also.unique headYields⟩ Iff.rfl

/-- If a computation yields something for all elements, it does so for each of them. -/
theorem exists_of_yields_forAll {computation : β → Evaluation α} {elements : List β}
    {context : Context} {values : List α}
    (yields : (forAll computation elements).Yields context values) {element : β}
    (listed : element ∈ elements) : ∃ value, (computation element).Yields context value := by
  induction elements generalizing values with
  | nil => cases listed
  | cons first rest inductionHypothesis =>
    obtain ⟨head, headYields, more⟩ := yields_bind.mp yields
    obtain ⟨tail, tailYields, _⟩ := yields_bind.mp more
    rcases List.mem_cons.mp listed with rfl | later
    · exact ⟨head, headYields⟩
    · exact inductionHypothesis tailYields later

/-- The elements that are kept are those for which the computation yields true. -/
theorem mem_of_yields_keep {computation : β → Evaluation Bool} {elements : List β}
    {context : Context} {kept : List β}
    (yields : (keep computation elements).Yields context kept) (element : β) :
    element ∈ kept ↔ element ∈ elements ∧ (computation element).Yields context true := by
  induction elements generalizing kept with
  | nil =>
    obtain rfl : [] = kept := yields_pure.mp yields
    simp
  | cons first rest inductionHypothesis =>
    obtain ⟨answer, answered, more⟩ := yields_bind.mp yields
    obtain ⟨others, othersYield, joined⟩ := yields_bind.mp more
    obtain rfl := yields_pure.mp joined
    have tail := inductionHypothesis othersYield
    cases answer with
    | true =>
      rw [if_pos rfl, List.mem_cons, List.mem_cons, tail]
      constructor
      · rintro (rfl | ⟨listed, holds⟩)
        · exact ⟨.inl rfl, answered⟩
        · exact ⟨.inr listed, holds⟩
      · rintro ⟨rfl | listed, holds⟩
        · exact .inl rfl
        · exact .inr ⟨listed, holds⟩
    | false =>
      rw [if_neg Bool.false_ne_true, List.mem_cons, tail]
      constructor
      · rintro ⟨listed, holds⟩
        exact ⟨.inr listed, holds⟩
      · rintro ⟨rfl | listed, holds⟩
        · exact absurd (answered.unique holds) Bool.false_ne_true
        · exact ⟨listed, holds⟩

/-- A search that succeeds has found an element for which the computation yields true. -/
theorem exists_of_yields_anyOf {computation : β → Evaluation Bool} {elements : List β}
    {context : Context} (yields : (anyOf computation elements).Yields context true) :
    ∃ element ∈ elements, (computation element).Yields context true := by
  induction elements with
  | nil => exact absurd (yields_pure.mp yields) Bool.false_ne_true
  | cons first rest inductionHypothesis =>
    obtain ⟨answer, answered, more⟩ := yields_bind.mp yields
    cases answer with
    | true => exact ⟨first, List.mem_cons_self, answered⟩
    | false =>
      obtain ⟨element, listed, holds⟩ := inductionHypothesis more
      exact ⟨element, List.mem_cons_of_mem _ listed, holds⟩

/-- A search that fails has tried every element. -/
theorem forall_of_yields_anyOf {computation : β → Evaluation Bool} {elements : List β}
    {context : Context} (yields : (anyOf computation elements).Yields context false)
    {element : β} (listed : element ∈ elements) :
    (computation element).Yields context false := by
  induction elements with
  | nil => cases listed
  | cons first rest inductionHypothesis =>
    obtain ⟨answer, answered, more⟩ := yields_bind.mp yields
    cases answer with
    | true => exact absurd (yields_pure.mp more).symm Bool.false_ne_true
    | false =>
      rcases List.mem_cons.mp listed with rfl | later
      · exact answered
      · exact inductionHypothesis more later

end Evaluation

end StreamPath
