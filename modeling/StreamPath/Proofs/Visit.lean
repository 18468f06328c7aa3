/-
Computations of handlers, one after another. A computation that succeeds as a whole has succeeded in
each of its parts, and what each part leaves as it is stays as it is.
-/

import StreamPath.Proofs.Yields
import StreamPath.Stream.Handler

namespace StreamPath

/-! ### What computations leave as it is -/

section Preserving

variable {ε ς τ α β : Type} {part : ς → τ}

/-- A part of the state is after a computation what it was before, also if the computation fails. -/
def Preserves (part : ς → τ) (computation : ExceptT ε (StateM ς) α) : Prop :=
  ∀ state, part (computation state).2 = part state

namespace Preserves

/-- A value alone leaves everything as it is. -/
theorem pure (value : α) : Preserves part (Pure.pure value : ExceptT ε (StateM ς) α) := fun _ => rfl

/-- What both parts leave as it is, in whatever the first one ends, the whole leaves as it is. -/
theorem bind {first : ExceptT ε (StateM ς) α} {next : α → ExceptT ε (StateM ς) β}
    (one : Preserves part first) (two : ∀ value, Preserves part (next value)) :
    Preserves part (first >>= next) := by
  intro state
  have same := one state
  rw [bind_apply]
  rcases ran : first state with ⟨error | value, between⟩
  · rw [ran] at same
    exact same
  · rw [ran] at same
    exact (two value between).trans same

end Preserves

end Preserving

variable {σ : Type}

/-! ### Computations -/

namespace Visit

variable {α β : Type}

/-- After a part that succeeds the next one goes on from where it has ended. -/
theorem bind_of_ok {first : Visit σ α} {stage between : Stage σ} {value : α}
    (succeeds : first stage = (.ok value, between)) (next : α → Visit σ β) :
    (first >>= next) stage = next value between := by
  rw [bind_apply, succeeds]

/-- A part that fails ends the whole, and the stage stays as it has left it. -/
theorem bind_of_error {first : Visit σ α} {stage after : Stage σ} {error : StreamError}
    (failed : first stage = (.error error, after)) (next : α → Visit σ β) :
    (first >>= next) stage = (.error error, after) := by
  rw [bind_apply, failed]

/-- If the whole succeeds then so do both parts, the second one from where the first has ended. -/
theorem ok_of_bind {first : Visit σ α} {next : α → Visit σ β} {stage after : Stage σ} {value : β}
    (succeeds : (first >>= next) stage = (.ok value, after)) :
    ∃ middle between, first stage = (.ok middle, between) ∧
      next middle between = (.ok value, after) := by
  rw [bind_apply] at succeeds
  split at succeeds
  · next middle between ran => exact ⟨middle, between, ran, succeeds⟩
  · cases succeeds

end Visit

end StreamPath
