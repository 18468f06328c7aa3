/-
Computations in a context. A computation reads its context, may report diagnostics and may fail;
it cannot change the context, so what it evaluates under another position or with an attribute on
top of the chain leaves no trace behind. What it reports is kept in order, whether it fails or
not.
-/

import StreamPath.Context
import StreamPath.Error
import StreamPath.Value

namespace StreamPath

/-- What a computation ends with, and what it has reported. -/
structure Outcome (α : Type) where
  result : Except ExprError α
  reports : List Diagnostic := []

/-- A computation in a context. -/
def Evaluation (α : Type) := Context → Outcome α

namespace Evaluation

variable {α β : Type}

/-- The outcome of a computation in a context. -/
def run (computation : Evaluation α) (context : Context) : Outcome α := computation context

/-- The computation that ends with a value at once. -/
def succeed (value : α) : Evaluation α := fun _ => { result := .ok value }

/-- The computation that fails at once. -/
def fail (error : ExprError) : Evaluation α := fun _ => { result := .error error }

/-- One computation after another, unless the first one fails. -/
def andThen (first : Evaluation α) (next : α → Evaluation β) : Evaluation β := fun context =>
  match first context with
  | ⟨.ok value, reports⟩ =>
    let ⟨result, more⟩ := next value context
    ⟨result, reports ++ more⟩
  | ⟨.error error, reports⟩ => ⟨.error error, reports⟩

instance : Monad Evaluation where
  pure := succeed
  bind := andThen

instance : Inhabited (Evaluation α) := ⟨fail (.internal "")⟩

/-- What the context gives. -/
def ask (f : Context → α) : Evaluation α := fun context => { result := .ok (f context) }

/-- A computation in a changed context. -/
def within (change : Context → Context) (computation : Evaluation α) : Evaluation α :=
  fun context =>
  computation (change context)

/-- A computation under another position. -/
def atPosition (position : Nat) (computation : Evaluation α) : Evaluation α :=
  within (fun context => { context with position }) computation

/-- Reports a message. -/
def report (severity : Severity) (message : String) : Evaluation Unit := fun context =>
  { result := .ok (), reports := [context.diagnose severity message] }

/-- Reports a warning. -/
def warn (message : String) : Evaluation Unit := report .warning message

/-- Goes on after an error. A recoverable error is reported, and replaced by the fallback if the
sink lets evaluation continue; any other error stays, and is reported as fatal if it is internal.
-/
def recover (error : ExprError) (fallback : α) : Evaluation α := do
  if error.isRecoverable then
    report .error error.message
    if ← ask fun context => context.sink.policy.continues then return fallback
    else fail (.aborted error.message)
  else
    match error with
    | .internal message => do
      report .fatal message
      fail error
    | _ => fail error

/-- The value of a result, or what `recover` makes of an error. -/
def orRecover (result : Except ExprError α) (fallback : α) : Evaluation α :=
  match result with
  | .ok value => succeed value
  | .error error => recover error fallback

/-! ### Over lists -/

/-- The results of a computation for each element, in order. -/
def forAll (computation : β → Evaluation α) : List β → Evaluation (List α)
  | [] => succeed []
  | first :: rest => do
    let value ← computation first
    let values ← forAll computation rest
    return value :: values

/-- The elements for which a computation answers with true, in order. -/
def keep (computation : β → Evaluation Bool) : List β → Evaluation (List β)
  | [] => succeed []
  | first :: rest => do
    let kept ← computation first
    let others ← keep computation rest
    return if kept then first :: others else others

/-- Whether a computation answers with true for some element; none after that is tried. -/
def anyOf (computation : β → Evaluation Bool) : List β → Evaluation Bool
  | [] => succeed false
  | first :: rest => do
    if ← computation first then return true else anyOf computation rest

/-! ### Laws -/

@[simp] theorem run_pure (value : α) (context : Context) :
    (pure value : Evaluation α) context = { result := .ok value } := rfl

theorem run_bind (first : Evaluation α) (next : α → Evaluation β) (context : Context) :
    (first >>= next) context =
      match first context with
      | ⟨.ok value, reports⟩ =>
        ⟨(next value context).result, reports ++ (next value context).reports⟩
      | ⟨.error error, reports⟩ => ⟨.error error, reports⟩ := rfl

theorem bind_pure_same (computation : Evaluation α) :
    (computation >>= pure) = computation := by
  funext context
  show andThen computation succeed context = computation context
  unfold andThen
  rcases computation context with ⟨_ | value, reports⟩ <;> simp [succeed]

theorem bind_bind (first : Evaluation α) (second : α → Evaluation β) (third : β → Evaluation γ) :
    first >>= second >>= third = first >>= fun value => second value >>= third := by
  funext context
  show andThen (andThen first second) third context =
    andThen first (fun value => andThen (second value) third) context
  unfold andThen
  cases first context with
  | mk result reports =>
    cases result with
    | error error => rfl
    | ok value =>
      dsimp only
      cases second value context with
      | mk result more =>
        cases result with
        | error error => rfl
        | ok value => simp

/-- A computation that does nothing adds nothing, and grouping does not matter. -/
instance : LawfulMonad Evaluation :=
  LawfulMonad.mk' Evaluation bind_pure_same (fun _ _ => rfl) bind_bind

end Evaluation

end StreamPath
