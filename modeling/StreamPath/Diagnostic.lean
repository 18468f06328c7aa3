/-
Diagnostics and those who receive them. Evaluation reports warnings, recoverable errors and fatal
errors; a sink says whether evaluation goes on after a recoverable error and which diagnostics are
kept for later.
-/

import StreamPath.Location

namespace StreamPath

/-- How grave a diagnostic is. -/
inductive Severity where
  | warning
  | error
  | fatal
deriving Repr, DecidableEq, Inhabited

/-- The name of a severity. -/
def Severity.name : Severity → String
  | .warning => "warning"
  | .error => "error"
  | .fatal => "fatal"

/-- One reported message, with the place of the instruction that was executed. -/
structure Diagnostic where
  severity : Severity
  message : String
  location : Location
deriving Repr, DecidableEq, Inhabited

/-- How a sink treats what is reported to it. -/
inductive SinkPolicy where
  /-- Keeps every diagnostic and answers recoverable errors as told. -/
  | collecting (continueOnError : Bool)
  /-- Keeps nothing and stops at every recoverable error. -/
  | strict
  /-- Keeps nothing and goes on after recoverable errors. -/
  | logging
deriving Repr, DecidableEq, Inhabited

namespace SinkPolicy

/-- Whether evaluation goes on after a recoverable error. -/
def continues : SinkPolicy → Bool
  | collecting continueOnError => continueOnError
  | strict => false
  | logging => true

/-- Whether diagnostics are kept. -/
def keeps : SinkPolicy → Bool
  | collecting _ => true
  | strict | logging => false

end SinkPolicy

/-- A receiver of diagnostics with what it has kept, the earliest first. -/
structure Sink where
  policy : SinkPolicy := .logging
  kept : List Diagnostic := []
deriving Repr, DecidableEq, Inhabited

namespace Sink

/-- The sink after it has received diagnostics. -/
def receive (sink : Sink) (reports : List Diagnostic) : Sink :=
  if sink.policy.keeps then { sink with kept := sink.kept ++ reports } else sink

/-- How many kept diagnostics have the given severity. -/
def count (sink : Sink) (severity : Severity) : Nat :=
  sink.kept.countP fun diagnostic => diagnostic.severity == severity

@[simp] theorem receive_nil (sink : Sink) : sink.receive [] = sink := by
  simp [receive]

@[simp] theorem receive_policy (sink : Sink) (reports : List Diagnostic) :
    (sink.receive reports).policy = sink.policy := by
  unfold receive
  split <;> rfl

theorem receive_append (sink : Sink) (first second : List Diagnostic) :
    sink.receive (first ++ second) = (sink.receive first).receive second := by
  unfold receive
  by_cases keeps : sink.policy.keeps <;> simp [keeps]

end Sink

end StreamPath
